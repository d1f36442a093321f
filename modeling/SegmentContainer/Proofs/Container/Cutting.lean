import SegmentContainer.Proofs.Container.Grammar

/-!
# Reading along the headers

A reader of containers takes data by the sizes that the headers announce, wherever the
writer meant the data to end.  Headers with any bytes behind them are therefore a
container exactly when these bytes, from the end of the announced data on, are a symbol
table; the data of the regions is then cut from what stands before.
-/

set_option autoImplicit false

namespace SegmentContainer

theorem RegionHeader.encode_injective {first second : RegionHeader}
    (same : first.encode = second.encode) : first = second := by
  obtain ⟨bounds, permissions⟩ := List.append_inj same (by simp [Bytes.length_ofWord])
  obtain ⟨start, endExclusive⟩ := List.append_inj bounds (by simp [Bytes.length_ofWord])
  cases first
  cases second
  obtain rfl := Bytes.ofWord_injective start
  obtain rfl := Bytes.ofWord_injective endExclusive
  obtain rfl := Bytes.ofWord_injective permissions
  rfl

namespace Container

def announced (headers : List RegionHeader) : Nat :=
  (headers.map (·.size.toNat)).sum

/-- The regions of these headers, with data cut from the front of the bytes. -/
def cut : List RegionHeader → Bytes → List ContainerRegion
  | [], _ => []
  | header :: rest, bytes =>
    ⟨header, bytes.take header.size.toNat⟩ :: cut rest (bytes.drop header.size.toNat)

theorem announced_cons (header : RegionHeader) (rest : List RegionHeader) :
    announced (header :: rest) = header.size.toNat + announced rest :=
  List.sum_cons

theorem map_header_cut (headers : List RegionHeader) (bytes : Bytes) :
    (cut headers bytes).map (·.header) = headers := by
  induction headers generalizing bytes with
  | nil => rfl
  | cons header rest ih => rw [cut, List.map_cons, ih]

theorem flatMap_data_cut (headers : List RegionHeader) (bytes : Bytes) :
    (cut headers bytes).flatMap (·.data) = bytes.take (announced headers) := by
  induction headers generalizing bytes with
  | nil => exact (List.take_zero).symm
  | cons header rest ih => rw [cut, List.flatMap_cons, ih, announced_cons, List.take_add]

theorem wellFormed_of_mem_cut {headers : List RegionHeader} {bytes : Bytes}
    (accepted : ∀ header ∈ headers, header.Accepted) (enough : announced headers ≤ bytes.length) :
    ∀ region ∈ cut headers bytes, region.WellFormed := by
  induction headers generalizing bytes with
  | nil => exact nofun
  | cons header rest ih =>
    rw [announced_cons] at enough
    intro region member
    rcases List.mem_cons.mp member with rfl | member
    · refine (ContainerRegion.wellFormed_iff _).mpr ⟨accepted header List.mem_cons_self, ?_⟩
      exact List.length_take_of_le (by omega)
    · refine ih (fun other inside => accepted other (List.mem_cons_of_mem _ inside)) ?_ region
        member
      rw [List.length_drop]
      omega

theorem cut_flatMap_data {regions : List ContainerRegion} (rest : Bytes)
    (formed : ∀ region ∈ regions, region.WellFormed) :
    cut (regions.map (·.header)) (regions.flatMap (·.data) ++ rest) = regions := by
  induction regions with
  | nil => rfl
  | cons region regions ih =>
    have filled := (region.wellFormed_iff.mp (formed region List.mem_cons_self)).2
    rw [List.map_cons, List.flatMap_cons, List.append_assoc, cut, ← filled, List.take_left,
      List.drop_left, ih fun other member => formed other (List.mem_cons_of_mem _ member)]

theorem length_flatMap_data {regions : List ContainerRegion}
    (formed : ∀ region ∈ regions, region.WellFormed) :
    (regions.flatMap (·.data)).length = announced (regions.map (·.header)) := by
  rw [List.length_flatMap, announced, List.map_map]
  congr 1
  exact List.map_congr_left fun region member => (region.wellFormed_iff.mp (formed region member)).2

theorem headers_of_flatMap_eq {first second : List RegionHeader} {rest other : Bytes}
    (count : first.length = second.length)
    (same : first.flatMap RegionHeader.encode ++ rest
      = second.flatMap RegionHeader.encode ++ other) :
    first = second ∧ rest = other := by
  induction first generalizing second with
  | nil =>
    obtain rfl := List.eq_nil_of_length_eq_zero count.symm
    exact ⟨rfl, same⟩
  | cons header headers ih =>
    cases second with
    | nil => cases count
    | cons otherHeader otherHeaders =>
      rw [List.flatMap_cons, List.flatMap_cons, List.append_assoc, List.append_assoc] at same
      obtain ⟨head, same⟩ := List.append_inj same
        (header.length_encode.trans otherHeader.length_encode.symm)
      obtain ⟨rfl, rest⟩ := ih (Nat.succ.inj count) same
      exact ⟨congrArg (· :: headers) (RegionHeader.encode_injective head), rest⟩

theorem headers_of_append_eq {first second : List RegionHeader} {rest other : Bytes}
    (firstSmall : first.length < 2 ^ 64) (secondSmall : second.length < 2 ^ 64)
    (same : encodeHeaders first ++ rest = encodeHeaders second ++ other) :
    first = second ∧ rest = other := by
  rw [encodeHeaders, encodeHeaders, List.append_assoc, List.append_assoc] at same
  obtain ⟨counts, same⟩ :=
    List.append_inj same ((Bytes.length_ofWord _).trans (Bytes.length_ofWord _).symm)
  exact headers_of_flatMap_eq (Bytes.ofWord_ofNat_inj firstSmall secondSmall counts) same

theorem length_encodeSymbols (symbols : List ContainerSymbol) (size : Nat) :
    (encodeSymbols symbols size).length = Layout.symbolPreamble + payloadSize symbols := by
  rw [encodeSymbols, List.length_append, List.length_append, Bytes.length_ofWord,
    Bytes.length_ofWord, length_flatMap_encode, ← Nat.add_assoc]
  rfl

/-- A container with these headers is read from them and the bytes behind exactly when its
regions are cut from those bytes and the rest spells its symbols. -/
theorem parse_headers_eq_ok_iff {headers : List RegionHeader} {bytes : Bytes}
    (accepted : ∀ header ∈ headers, header.Accepted)
    (bound : (encodeHeaders headers ++ bytes).length < 2 ^ 64) (container : Container) :
    parse (encodeHeaders headers ++ bytes) = .ok container
      ↔ container.regions = cut headers bytes
        ∧ (∀ symbol ∈ container.symbols, symbol.WellFormed)
        ∧ container.symbolPayloadSize = payloadSize container.symbols
        ∧ bytes.drop (announced headers)
            = encodeSymbols container.symbols container.symbolPayloadSize
        ∧ container.totalSize = (encodeHeaders headers ++ bytes).length := by
  rw [parse_eq_ok_iff _ _ bound]
  constructor
  · rintro ⟨formed, same⟩
    have few : ∀ listed : List RegionHeader, (encodeHeaders listed).length < 2 ^ 64 →
        listed.length < 2 ^ 64 := by
      intro listed short
      have wide : Layout.regionHeader = 24 := rfl
      rw [encodeHeaders, List.length_append, length_flatMap_encode_headers, wide] at short
      omega
    have headersFew := few headers (by rw [List.length_append] at bound; omega)
    have regionsFew := few (container.regions.map (·.header)) (by
      rw [same, encode, List.length_append] at bound
      omega)
    obtain ⟨rfl, rfl⟩ := headers_of_append_eq headersFew regionsFew same
    refine ⟨(cut_flatMap_data _ formed.regions).symm, formed.symbols, formed.payload, ?_, ?_⟩
    -- the regions that were read have the announced sizes, so the symbols begin behind them
    · rw [← length_flatMap_data formed.regions, List.drop_left]
    · rw [same]
      exact formed.total
  · rintro ⟨regions, symbols, payload, rest, total⟩
    -- a symbol table is never empty, so the announced data lies within the bytes
    have enough : announced headers ≤ bytes.length := by
      have long := congrArg List.length rest
      have preamble : Layout.symbolPreamble = 16 := rfl
      rw [List.length_drop, length_encodeSymbols, preamble] at long
      omega
    have spelled : container.encode = encodeHeaders headers ++ bytes := by
      rw [encode, regions, map_header_cut, flatMap_data_cut, ← rest, List.take_append_drop]
    refine ⟨⟨?_, symbols, payload, ?_⟩, spelled.symm⟩
    · rw [regions]
      exact wellFormed_of_mem_cut accepted enough
    · rw [total, spelled]

end Container
end SegmentContainer
