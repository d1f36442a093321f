import SegmentContainer.Container.Encoding
import SegmentContainer.Container.Parser
import SegmentContainer.Proofs.Container.Reading

/-!
# The grammar of containers

Each part of the reader of containers is described by what it accepts: headers with
ordered bounds and known permissions, as many bytes of data as the headers announce,
symbol entries with terminated names, and a payload of the stated size.  Together a
string is read as a container exactly when it is the encoding of a well formed one.
-/

set_option autoImplicit false

namespace SegmentContainer

/-! ## Headers and data -/

structure RegionHeader.Accepted (header : RegionHeader) : Prop where
  ordered : header.start ≤ header.endExclusive
  known : header.permissions.toNat < 8

theorem RegionHeader.toNat_size {header : RegionHeader}
    (ordered : header.start ≤ header.endExclusive) :
    header.size.toNat = header.endExclusive.toNat - header.start.toNat :=
  UInt64.toNat_sub_of_le _ _ ordered

theorem RegionHeader.isNone_flags? (header : RegionHeader) :
    header.flags?.isNone = false ↔ header.permissions.toNat < 8 := by
  unfold RegionHeader.flags? Permissions.ofBits?
  split <;> simp [*]

theorem ContainerRegion.wellFormed_iff (region : ContainerRegion) :
    region.WellFormed
      ↔ region.header.Accepted ∧ region.data.length = region.header.size.toNat := by
  constructor
  · intro formed
    exact ⟨⟨formed.ordered, formed.known⟩,
      formed.filled.trans (RegionHeader.toNat_size formed.ordered).symm⟩
  · rintro ⟨accepted, filled⟩
    exact ⟨accepted.ordered, accepted.known,
      filled.trans (RegionHeader.toNat_size accepted.ordered)⟩

namespace Container

open Reader

theorem header_reads : header.Reads RegionHeader.Accepted RegionHeader.encode := by
  intro cursor after value bound
  simp only [header, bind_ok_iff, position_ok_iff]
  constructor
  · rintro ⟨_, _, ⟨rfl, rfl⟩, start, first, readStart, last, second, readLast,
      permissions, third, readPermissions, checked⟩
    obtain ⟨-, passStart⟩ := (word_reads _ _ _ bound).mp readStart
    obtain ⟨-, passLast⟩ := (word_reads _ _ _ (passStart.length_eq ▸ bound)).mp readLast
    have passBounds := passStart.append passLast
    obtain ⟨-, passPermissions⟩ :=
      (word_reads _ _ _ (passBounds.length_eq ▸ bound)).mp readPermissions
    split at checked
    · exact absurd checked (reject_ne_ok _ _ _ _ _)
    · rename_i ordered
      split at checked
      · exact absurd checked (reject_ne_ok _ _ _ _ _)
      · rename_i known
        obtain ⟨rfl, rfl⟩ := (pure_ok_iff _ _ _ _).mp checked
        exact ⟨⟨UInt64.not_lt.mp ordered,
          (RegionHeader.isNone_flags? _).mp (Bool.eq_false_iff.mpr known)⟩,
          passBounds.append passPermissions⟩
  · rintro ⟨accepted, passes⟩
    obtain ⟨second, passBounds, passPermissions⟩ := Cursor.Passes.append_iff.mp passes
    obtain ⟨first, passStart, passLast⟩ := Cursor.Passes.append_iff.mp passBounds
    refine ⟨_, _, ⟨rfl, rfl⟩,
      _, first, (word_reads _ _ _ bound).mpr ⟨trivial, passStart⟩,
      _, second, (word_reads _ _ _ (passStart.length_eq ▸ bound)).mpr ⟨trivial, passLast⟩,
      _, after, (word_reads _ _ _ (passBounds.length_eq ▸ bound)).mpr
        ⟨trivial, passPermissions⟩, ?_⟩
    have known : ¬ value.flags?.isNone = true := by
      rw [(RegionHeader.isNone_flags? value).mpr accepted.known]
      exact Bool.false_ne_true
    rw [if_neg (UInt64.not_lt.mpr accepted.ordered), if_neg known]
    exact (pure_ok_iff _ _ _ _).mpr ⟨rfl, rfl⟩

theorem regionData_ok_iff (headers : List RegionHeader) (soFar all : Array ContainerRegion)
    (cursor after : Cursor) (bound : cursor.length < 2 ^ 64) :
    regionData headers soFar cursor = .ok all after
      ↔ ∃ regions : List ContainerRegion, regions.map (·.header) = headers
          ∧ all.toList = soFar.toList ++ regions
          ∧ (∀ region ∈ regions, region.data.length = region.header.size.toNat)
          ∧ cursor.Passes (regions.flatMap (·.data)) after := by
  -- each round adds one region to `soFar`, and starts where the data of the last one ends
  induction headers generalizing soFar cursor with
  | nil =>
    simp only [regionData, pure_ok_iff, List.map_eq_nil_iff]
    constructor
    · rintro ⟨rfl, rfl⟩
      exact ⟨[], rfl, by simp, by simp, Cursor.Passes.nil_iff.mpr rfl⟩
    · rintro ⟨regions, rfl, same, -, passes⟩
      exact ⟨by simpa using same, Cursor.Passes.nil_iff.mp passes⟩
  | cons header rest ih =>
    simp only [regionData, bind_ok_iff]
    constructor
    · rintro ⟨data, middle, first, later⟩
      obtain ⟨long, passed⟩ := (bytes_reads _ _ _ _ bound).mp first
      obtain ⟨regions, rfl, same, filled, passes⟩ :=
        (ih (soFar.push ⟨header, data⟩) middle (passed.length_eq ▸ bound)).mp later
      refine ⟨⟨header, data⟩ :: regions, rfl, by simpa using same, ?_, ?_⟩
      · intro region member
        rcases List.mem_cons.mp member with rfl | member
        · exact long
        · exact filled region member
      · rw [List.flatMap_cons]
        exact passed.append passes
    · rintro ⟨regions, headers, same, filled, passes⟩
      cases regions with
      | nil => simp at headers
      | cons region regions =>
        obtain ⟨rfl, rfl⟩ := List.cons.inj headers
        rw [List.flatMap_cons, Cursor.Passes.append_iff] at passes
        obtain ⟨middle, passed, passes⟩ := passes
        refine ⟨region.data, middle, (bytes_reads _ _ _ _ bound).mpr
          ⟨filled region List.mem_cons_self, passed⟩, ?_⟩
        refine (ih (soFar.push ⟨region.header, region.data⟩) middle
          (passed.length_eq ▸ bound)).mpr ⟨regions, rfl, by simpa using same, ?_, passes⟩
        intro region member
        exact filled region (List.mem_cons_of_mem _ member)

theorem regionCount_ok_iff (count : Nat) (cursor after : Cursor)
    (bound : cursor.length < 2 ^ 64) :
    regionCount cursor = .ok count after
      ↔ (count < 2 ^ 64 ∧ cursor.Passes (Bytes.ofWord (UInt64.ofNat count)) after)
        ∧ count * Layout.regionHeader ≤ after.remaining := by
  simp only [regionCount, bind_ok_iff, position_ok_iff, remaining_ok_iff]
  constructor
  · rintro ⟨_, _, ⟨rfl, rfl⟩, found, middle, counted, _, _, ⟨rfl, rfl⟩, checked⟩
    split at checked
    · rename_i enough
      obtain ⟨rfl, rfl⟩ := (pure_ok_iff _ _ _ _).mp checked
      exact ⟨(count_reads _ _ _ bound).mp counted, enough⟩
    · exact absurd checked (reject_ne_ok _ _ _ _ _)
  · rintro ⟨counted, enough⟩
    refine ⟨_, _, ⟨rfl, rfl⟩, count, after, (count_reads _ _ _ bound).mpr counted,
      _, _, ⟨rfl, rfl⟩, ?_⟩
    rw [if_pos enough]
    exact (pure_ok_iff _ _ _ _).mpr ⟨rfl, rfl⟩

theorem length_flatMap_encode_headers (headers : List RegionHeader) :
    (headers.flatMap RegionHeader.encode).length = headers.length * Layout.regionHeader := by
  induction headers with
  | nil => simp
  | cons header rest ih =>
    rw [List.flatMap_cons, List.length_append, ih, RegionHeader.length_encode, List.length_cons,
      Nat.succ_mul, Nat.add_comm]

theorem regionTable_reads :
    regionTable.Reads (fun regions => ∀ region ∈ regions, region.WellFormed)
      fun regions =>
        encodeHeaders (regions.map (·.header)) ++ regions.flatMap (·.data) := by
  intro cursor after regions bound
  simp only [regionTable, bind_ok_iff, pure_ok_iff]
  constructor
  · rintro ⟨count, first, counted, headers, second, listed, read, _, filled, rfl, rfl⟩
    obtain ⟨⟨-, passCount⟩, -⟩ := (regionCount_ok_iff _ _ _ bound).mp counted
    have boundFirst := passCount.length_eq ▸ bound
    obtain ⟨found, rfl, same, accepted, passHeaders⟩ :=
      (many_ok_iff header_reads _ _ _ _ _ boundFirst).mp listed
    obtain ⟨regions, split, all, long, passData⟩ :=
      (regionData_ok_iff _ _ _ _ _ (passHeaders.length_eq ▸ boundFirst)).mp filled
    have same : headers.toList = found := by simpa using same
    have all : read.toList = regions := by simpa using all
    rw [same] at split
    refine ⟨?_, ?_⟩
    · intro region member
      rw [all] at member
      refine region.wellFormed_iff.mpr ⟨accepted _ ?_, long region member⟩
      exact split ▸ List.mem_map_of_mem member
    · rw [all, encodeHeaders, split]
      exact (passCount.append passHeaders).append passData
  · rintro ⟨formed, passes⟩
    obtain ⟨second, passTable, passData⟩ := Cursor.Passes.append_iff.mp passes
    obtain ⟨first, passCount, passHeaders⟩ := Cursor.Passes.append_iff.mp passTable
    have boundFirst := passCount.length_eq ▸ bound
    -- the headers are ahead, so that a count of them is let through
    have enough : regions.length * Layout.regionHeader ≤ first.remaining := by
      rw [Cursor.remaining, passHeaders.next, List.length_append, length_flatMap_encode_headers,
        List.length_map]
      exact Nat.le_add_right _ _
    have small : regions.length < 2 ^ 64 := by
      have inside : first.remaining ≤ first.length := Nat.le_add_left _ _
      have wide : 0 < Layout.regionHeader := by decide
      have fewer := Nat.le_mul_of_pos_right regions.length wide
      omega
    rw [List.length_map] at passCount
    refine ⟨regions.length, first,
      (regionCount_ok_iff _ _ _ bound).mpr ⟨⟨small, passCount⟩, enough⟩,
      (regions.map (·.header)).toArray, second,
      (many_ok_iff header_reads _ _ _ _ _ boundFirst).mpr
        ⟨regions.map (·.header), List.length_map _, by simp, ?_, passHeaders⟩,
      regions.toArray, after,
      (regionData_ok_iff _ _ _ _ _ (passHeaders.length_eq ▸ boundFirst)).mpr
        ⟨regions, rfl, by simp, ?_, passData⟩, rfl, rfl⟩
    · intro header member
      obtain ⟨region, inside, rfl⟩ := List.mem_map.mp member
      exact (region.wellFormed_iff.mp (formed region inside)).1
    · intro region member
      exact (region.wellFormed_iff.mp (formed region member)).2

/-! ## Symbols -/

theorem symbolEntry_reads :
    symbolEntry.Reads ContainerSymbol.WellFormed ContainerSymbol.encode := by
  intro cursor after symbol bound
  simp only [symbolEntry, bind_ok_iff, pure_ok_iff]
  constructor
  · rintro ⟨address, middle, first, name, _, second, rfl, rfl⟩
    obtain ⟨-, passAddress⟩ := (word_reads _ _ _ bound).mp first
    obtain ⟨whole, passName⟩ := (text_reads _ _ _ (passAddress.length_eq ▸ bound)).mp second
    exact ⟨whole, passAddress.append passName⟩
  · rintro ⟨whole, passes⟩
    obtain ⟨middle, passAddress, passName⟩ := Cursor.Passes.append_iff.mp passes
    exact ⟨symbol.address, middle, (word_reads _ _ _ bound).mpr ⟨trivial, passAddress⟩,
      symbol.name, after,
      (text_reads _ _ _ (passAddress.length_eq ▸ bound)).mpr ⟨whole, passName⟩, rfl, rfl⟩

theorem length_le_payloadSize (symbols : List ContainerSymbol) :
    symbols.length ≤ payloadSize symbols := by
  induction symbols with
  | nil => exact Nat.le_refl 0
  | cons symbol rest ih =>
    have step : payloadSize (symbol :: rest)
        = Layout.symbolOverhead + (Utf8.encode symbol.name).length + payloadSize rest := rfl
    have overhead : Layout.symbolOverhead = 9 := rfl
    rw [List.length_cons]
    omega

/-- A payload is read as a list of symbols exactly when it is made up of their entries
and they are as many as was said. -/
theorem symbolPayload_eq_ok_iff (payload : Bytes) (count sizeOffset : Nat)
    (symbols : List ContainerSymbol) (bound : payload.length < 2 ^ 64) :
    symbolPayload payload count sizeOffset = .ok symbols
      ↔ symbols.length = count ∧ (∀ symbol ∈ symbols, symbol.WellFormed)
          ∧ payload = symbols.flatMap ContainerSymbol.encode := by
  have startBound := (Cursor.length_start payload).trans_lt bound
  have reading := many_ok_iff symbolEntry_reads count
    (Array.emptyWithCapacity (symbolRoom count payload.length))
  unfold symbolPayload
  dsimp only
  constructor
  · intro read
    split at read
    · cases read
    · rename_i all after run
      obtain ⟨items, long, same, shapes, passes⟩ := (reading _ _ _ startBound).mp run
      split at read
      · rename_i atEnd
        have same : all.toList = items := by simpa using same
        rw [← Except.ok.inj read, same]
        exact ⟨long, shapes, ((Cursor.Passes.start_iff (List.isEmpty_iff.mp atEnd)).mp passes).1⟩
      · cases read
  · rintro ⟨long, shapes, rfl⟩
    have run := (reading symbols.toArray (Cursor.start _)
      ⟨(symbols.flatMap ContainerSymbol.encode).length, []⟩ startBound).mpr
      ⟨symbols, long, by simp, shapes, (Cursor.Passes.start_iff rfl).mpr ⟨rfl, rfl⟩⟩
    simp only [run]
    rfl

theorem symbolTable_reads :
    symbolTable.Reads
      (fun table => (∀ symbol ∈ table.1, symbol.WellFormed) ∧ table.2 = payloadSize table.1)
      fun table => encodeSymbols table.1 table.2 := by
  rintro cursor after ⟨symbols, size⟩ bound
  simp only [symbolTable, bind_ok_iff, position_ok_iff]
  constructor
  · rintro ⟨count, _, counted, _, first, ⟨rfl, rfl⟩, declared, second, sized, payload, third,
      taken, read⟩
    obtain ⟨-, passCount⟩ := (count_reads _ _ _ bound).mp counted
    have boundFirst := passCount.length_eq ▸ bound
    obtain ⟨-, passSize⟩ := (count_reads _ _ _ boundFirst).mp sized
    have boundSecond := passSize.length_eq ▸ boundFirst
    obtain ⟨long, passPayload⟩ := (bytes_reads _ _ _ _ boundSecond).mp taken
    have payloadBound : payload.length < 2 ^ 64 := by
      have inside := congrArg List.length passPayload.next
      rw [List.length_append] at inside
      simp only [Cursor.length, id] at boundSecond inside
      omega
    cases entries : symbolPayload payload count first.position with
    | error malformed => simp only [entries] at read; cases read
    | ok found =>
      simp only [entries] at read
      obtain ⟨same, rfl⟩ := (pure_ok_iff _ _ _ _).mp read
      obtain ⟨rfl, rfl⟩ := Prod.mk.inj same
      obtain ⟨rfl, shapes, rfl⟩ :=
        (symbolPayload_eq_ok_iff _ _ _ _ payloadBound).mp entries
      refine ⟨⟨shapes, ?_⟩, passCount.append (passSize.append passPayload)⟩
      rw [← long, length_flatMap_encode]
  · rintro ⟨⟨shapes, rfl⟩, passes⟩
    obtain ⟨first, passCount, passRest⟩ := Cursor.Passes.append_iff.mp passes
    obtain ⟨second, passSize, passPayload⟩ := Cursor.Passes.append_iff.mp passRest
    have boundFirst := passCount.length_eq ▸ bound
    have boundSecond := passSize.length_eq ▸ boundFirst
    have payloadLength := length_flatMap_encode symbols
    -- the payload is a part of the string, hence its size is a word
    have payloadBound : payloadSize symbols < 2 ^ 64 := by
      have inside := congrArg List.length passPayload.next
      rw [List.length_append, payloadLength] at inside
      simp only [Cursor.length] at boundSecond
      omega
    have small : symbols.length < 2 ^ 64 :=
      Nat.lt_of_le_of_lt (length_le_payloadSize symbols) payloadBound
    refine ⟨symbols.length, first, (count_reads _ _ _ bound).mpr ⟨small, passCount⟩,
      _, _, ⟨rfl, rfl⟩, payloadSize symbols, second,
      (count_reads _ _ _ boundFirst).mpr ⟨payloadBound, passSize⟩,
      symbols.flatMap ContainerSymbol.encode, after,
      (bytes_reads _ _ _ _ boundSecond).mpr ⟨payloadLength, passPayload⟩, ?_⟩
    have read := (symbolPayload_eq_ok_iff (symbols.flatMap ContainerSymbol.encode) symbols.length
      first.position symbols (payloadLength ▸ payloadBound)).mpr ⟨rfl, shapes, rfl⟩
    simp only [read]
    exact (pure_ok_iff _ _ _ _).mpr ⟨rfl, rfl⟩

/-! ## Whole containers -/

theorem noneTrailing_ok_iff (found : Unit) (cursor after : Cursor) :
    noneTrailing cursor = .ok found after ↔ cursor.rest = [] ∧ after = cursor := by
  simp only [noneTrailing, bind_ok_iff, position_ok_iff, remaining_ok_iff]
  constructor
  · rintro ⟨_, _, ⟨rfl, rfl⟩, _, _, ⟨rfl, rfl⟩, checked⟩
    split at checked
    · rename_i nothing
      exact ⟨List.eq_nil_of_length_eq_zero nothing, ((pure_ok_iff _ _ _ _).mp checked).2⟩
    · exact absurd checked (reject_ne_ok _ _ _ _ _)
  · rintro ⟨nothing, rfl⟩
    refine ⟨_, _, ⟨rfl, rfl⟩, _, _, ⟨rfl, rfl⟩, ?_⟩
    rw [if_pos (by simp [Cursor.remaining, nothing])]
    exact (pure_ok_iff _ _ _ _).mpr ⟨rfl, rfl⟩

theorem whole_ok_iff (bytes : Bytes) (container : Container) (bound : bytes.length < 2 ^ 64) :
    (∃ after, whole bytes.length (Cursor.start bytes) = .ok container after)
      ↔ container.WellFormed ∧ bytes = container.encode := by
  have startBound := (Cursor.length_start bytes).trans_lt bound
  simp only [whole, bind_ok_iff, pure_ok_iff, noneTrailing_ok_iff]
  constructor
  · rintro ⟨_, regions, first, readRegions, ⟨symbols, size⟩, second, readSymbols, -, _,
      ⟨atEnd, rfl⟩, rfl, rfl⟩
    obtain ⟨regionsFormed, passRegions⟩ := (regionTable_reads _ _ _ startBound).mp readRegions
    obtain ⟨⟨symbolsFormed, sized⟩, passSymbols⟩ :=
      (symbolTable_reads _ _ _ (passRegions.length_eq ▸ startBound)).mp readSymbols
    have spelled := ((Cursor.Passes.start_iff atEnd).mp (passRegions.append passSymbols)).1
    have encoded : bytes = (Container.mk regions symbols size bytes.length).encode := by
      simpa [encode, encodeHeaders] using spelled
    exact ⟨⟨regionsFormed, symbolsFormed, sized, congrArg List.length encoded⟩, encoded⟩
  · rintro ⟨formed, encoded⟩
    have passes : (Cursor.start bytes).Passes
        ((encodeHeaders (container.regions.map (·.header)) ++ container.regions.flatMap (·.data))
          ++ encodeSymbols container.symbols container.symbolPayloadSize) ⟨bytes.length, []⟩ := by
      refine (Cursor.Passes.start_iff rfl).mpr ⟨?_, congrArg List.length ?_⟩ <;>
        rw [encoded, encode, List.append_assoc]
    obtain ⟨first, passRegions, passSymbols⟩ := Cursor.Passes.append_iff.mp passes
    refine ⟨⟨bytes.length, []⟩, container.regions, first,
      (regionTable_reads _ _ _ startBound).mpr ⟨formed.regions, passRegions⟩,
      (container.symbols, container.symbolPayloadSize), _,
      (symbolTable_reads _ _ _ (passRegions.length_eq ▸ startBound)).mpr
        ⟨⟨formed.symbols, formed.payload⟩, passSymbols⟩, (), _, ⟨rfl, rfl⟩, ?_, rfl⟩
    rw [encoded, ← formed.total]

theorem parse_eq_ok_iff (bytes : Bytes) (container : Container) (bound : bytes.length < 2 ^ 64) :
    parse bytes = .ok container ↔ container.WellFormed ∧ bytes = container.encode := by
  rw [← whole_ok_iff bytes container bound]
  unfold parse
  cases whole bytes.length (Cursor.start bytes) with
  | error malformed after => simp
  | ok found after => simp

/-- Reading is the inverse of encoding on well formed containers and refuses all else; so
what was read encodes to the bytes that were read, and no other bytes are read as the
same container. -/
theorem parse_inverts_encode (bytes : Bytes) (small : bytes.length < 2 ^ 63) :
    (∀ container, parse bytes = .ok container
        ↔ container.WellFormed ∧ bytes = container.encode)
      ∧ (∀ container, parse bytes = .ok container → container.encode = bytes)
      ∧ ∀ other container, other.length < 2 ^ 63 → parse bytes = .ok container →
          parse other = .ok container → other = bytes := by
  have inverse : ∀ string container, string.length < 2 ^ 63 →
      (parse string = .ok container ↔ container.WellFormed ∧ string = container.encode) :=
    fun string container bound => parse_eq_ok_iff string container (by omega)
  refine ⟨fun container => inverse bytes container small, ?_, ?_⟩
  · intro container read
    exact ((inverse bytes container small).mp read).2.symm
  · intro other container otherSmall read otherRead
    rw [((inverse bytes container small).mp read).2,
      ((inverse other container otherSmall).mp otherRead).2]

/-- A container with a region of two bytes, an empty one, and two symbols of which one
has no name. -/
def sample : Container where
  regions := [⟨⟨0x1000, 0x1002, 5⟩, [7, 0]⟩, ⟨⟨0x2000, 0x2000, 0⟩, []⟩]
  symbols := [⟨0x1001, "é"⟩, ⟨0, ""⟩]
  symbolPayloadSize := 20
  totalSize := 94

theorem parse_encode_sample :
    sample.encode.length < 2 ^ 63 ∧ parse sample.encode = .ok sample
      ∧ ∀ other, other.length < 2 ^ 63 → parse other = .ok sample → other = sample.encode := by
  have small : sample.encode.length < 2 ^ 63 := by decide +kernel
  have formed : sample.WellFormed := by
    refine ⟨?_, ?_, rfl, rfl⟩
    · simp only [sample, List.forall_mem_cons]
      exact ⟨⟨by decide, by decide, by decide⟩, ⟨by decide, by decide, by decide⟩, by simp⟩
    · simp only [sample, List.forall_mem_cons, ContainerSymbol.WellFormed]
      exact ⟨by decide +kernel, by decide +kernel, by simp⟩
  have read := ((parse_inverts_encode sample.encode small).1 sample).mpr ⟨formed, rfl⟩
  exact ⟨small, read, fun other otherSmall otherRead =>
    (parse_inverts_encode sample.encode small).2.2 other sample otherSmall read otherRead⟩

end Container
end SegmentContainer
