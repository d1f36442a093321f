import SegmentContainer.Export.Run
import SegmentContainer.Proofs.Region

/-!
# What a container carries for an image

The regions and symbols that belong into the container of an export, said region by
region and without the steps of the export: for a region the bytes of a read that
returned as many as the region has, and otherwise what the policy puts in their place;
for a symbol its address and its name, unless the name is a placeholder.

Settling a read comes to the same.
-/

set_option autoImplicit false

namespace SegmentContainer

def ReadOutcome.whole? (region : Region) : ReadOutcome → Option Bytes
  | .data bytes => if bytes.length = region.width then some bytes else none
  | .failed _ => none
  | .crashed _ => none

/-- The data that a policy puts in the place of `width` bytes that could not be read, or
`none` where it leaves out the region. -/
def ReadFailurePolicy.substitute? (policy : ReadFailurePolicy) (width : Nat) : Option Bytes :=
  match policy with
  | .zeroFill => if width < 2 ^ 63 then some (List.replicate width 0) else none
  | .omit => some []
  | .dropRegion => none

def Region.carried? (region : Region) (policy : ReadFailurePolicy) (outcome : ReadOutcome) :
    Option ContainerRegion :=
  ((outcome.whole? region).or (policy.substitute? region.width)).map fun data =>
    ⟨region.header, data⟩

/-- What the container carries for regions that are read in order, the first read having
the given number. -/
def carriedFrom (policy : ReadFailurePolicy) (read : Nat → Placed → ReadOutcome) :
    Nat → List Placed → List ContainerRegion
  | _, [] => []
  | number, placed :: rest =>
    (placed.region.carried? policy (read number placed)).toList
      ++ carriedFrom policy read (number + 1) rest

/-- The bytes of a read that returned as many as the size of the region says, whatever
its bounds are. -/
def ReadOutcome.complete? (region : Region) : ReadOutcome → Option Bytes
  | .data bytes => if bytes.length = region.size.toNat then some bytes else none
  | .failed _ => none
  | .crashed _ => none

def Region.written? (region : Region) (policy : ReadFailurePolicy) (outcome : ReadOutcome) :
    Option ContainerRegion :=
  ((outcome.complete? region).or (policy.substitute? region.size.toNat)).map fun data =>
    ⟨region.writtenHeader, data⟩

def writtenFrom (policy : ReadFailurePolicy) (read : Nat → Placed → ReadOutcome) :
    Nat → List Placed → List ContainerRegion
  | _, [] => []
  | number, placed :: rest =>
    (placed.region.written? policy (read number placed)).toList
      ++ writtenFrom policy read (number + 1) rest

theorem Region.Admitted.complete?_eq {region : Region} (admitted : region.Admitted)
    (outcome : ReadOutcome) : outcome.complete? region = outcome.whole? region := by
  cases outcome with
  | data bytes => rw [ReadOutcome.complete?, ReadOutcome.whole?, admitted.toNat_size]
  | failed error => rfl
  | crashed reason => rfl

theorem Region.Admitted.written?_eq {region : Region} (admitted : region.Admitted)
    (policy : ReadFailurePolicy) (outcome : ReadOutcome) :
    region.written? policy outcome = region.carried? policy outcome := by
  rw [Region.written?, Region.carried?, admitted.complete?_eq, admitted.toNat_size,
    admitted.writtenHeader_eq]

/-- For regions from the constructors what is written is what the container carries. -/
theorem writtenFrom_eq_carriedFrom (policy : ReadFailurePolicy)
    (read : Nat → Placed → ReadOutcome) (number : Nat) {order : List Placed}
    (admitted : ∀ placed ∈ order, placed.region.Admitted) :
    writtenFrom policy read number order = carriedFrom policy read number order := by
  induction order generalizing number with
  | nil => rfl
  | cons placed rest ih =>
    rw [writtenFrom, carriedFrom, (admitted placed List.mem_cons_self).written?_eq,
      ih (number + 1) fun other member => admitted other (List.mem_cons_of_mem _ member)]

def Symbol.entry (symbol : Symbol) : ContainerSymbol := ⟨symbol.address, symbol.name⟩

/-- The symbols that the container holds: those with names that are no placeholders, in
the order of the image. -/
def Image.entries (image : Image) : List ContainerSymbol :=
  (image.symbols.filter fun symbol => symbol.source ≠ .placeholder).map Symbol.entry

def Image.spelled (image : Image) (regions : List ContainerRegion) : Bytes :=
  Container.encodeHeaders (regions.map (·.header))
    ++ (regions.flatMap (·.data)
      ++ Container.encodeSymbols image.entries (Container.payloadSize image.entries))

def Image.container (image : Image) (policy : ReadFailurePolicy)
    (read : Nat → Placed → ReadOutcome) (order : List Placed) : Container :=
  let regions := carriedFrom policy read 0 order
  { regions := regions
    symbols := image.entries
    symbolPayloadSize := Container.payloadSize image.entries
    totalSize :=
      (Container.encodeHeaders (regions.map (·.header))
        ++ (regions.flatMap (·.data)
          ++ Container.encodeSymbols image.entries (Container.payloadSize image.entries))).length }

theorem Image.totalSize_container (image : Image) (policy : ReadFailurePolicy)
    (read : Nat → Placed → ReadOutcome) (order : List Placed) :
    (image.container policy read order).totalSize
      = (image.container policy read order).encode.length := rfl

theorem Image.encode_container (image : Image) (policy : ReadFailurePolicy)
    (read : Nat → Placed → ReadOutcome) (order : List Placed) :
    (image.container policy read order).encode
      = image.spelled (carriedFrom policy read 0 order) := rfl

namespace Export

def Contents.data : Contents → Bytes
  | .present bytes => bytes
  | .zeros size => List.replicate size 0
  | .omitted => []
  | .dropped => []

def Taken.written? (taken : Taken) : Option ContainerRegion :=
  if taken.contents = .dropped then none
  else some ⟨taken.region.writtenHeader, taken.contents.data⟩

theorem resolve_zeroFill_of_lt {size : UInt64} (small : size.toNat < 2 ^ 63) :
    resolve .zeroFill size = (.zeros size.toNat, .zeroFill) :=
  if_pos small

theorem resolve_zeroFill_of_le {size : UInt64} (large : 2 ^ 63 ≤ size.toNat) :
    resolve .zeroFill size = (.dropped, .dropRegion) :=
  if_neg (Nat.not_lt.mpr large)

theorem written?_unread (policy : ReadFailurePolicy) (region : Region) (error : Error) :
    (unread policy region error).written?
      = (policy.substitute? region.size.toNat).map fun data => ⟨region.writtenHeader, data⟩ := by
  match policy with
  | .zeroFill =>
    by_cases small : region.size.toNat < 2 ^ 63
    · rw [unread, resolve_zeroFill_of_lt small, ReadFailurePolicy.substitute?, if_pos small]
      rfl
    · rw [unread, resolve_zeroFill_of_le (Nat.le_of_not_lt small),
        ReadFailurePolicy.substitute?, if_neg small]
      rfl
  | .omit => rfl
  | .dropRegion => rfl

theorem written?_of_settle {policy : ReadFailurePolicy} {region : Region}
    {outcome : ReadOutcome} {taken : Taken}
    (settled : settle policy region outcome = .ok taken) :
    taken.written? = region.written? policy outcome := by
  cases outcome with
  | data bytes =>
    simp only [settle] at settled
    split at settled
    · rename_i long
      obtain rfl := Except.ok.inj settled
      simp [Taken.written?, Contents.data, Region.written?, ReadOutcome.complete?, long]
    · rename_i other
      obtain rfl := Except.ok.inj settled
      rw [written?_unread policy region]
      simp [Region.written?, ReadOutcome.complete?, other]
  | failed error =>
    obtain rfl := Except.ok.inj settled
    rw [written?_unread policy region error]
    simp [Region.written?, ReadOutcome.complete?]
  | crashed reason => cases settled

/-- A region that was settled: it has all its data, or it is left out, or its data is
and the record of the failure says so. -/
structure Taken.Settled (taken : Taken) : Prop where
  admitted : taken.region.Admitted
  filled : taken.contents.data.length = taken.region.width ∨ taken.contents = .dropped
    ∨ ∃ failure, taken.failure? = some failure ∧ failure.resolution = .omit

theorem settled_unread (policy : ReadFailurePolicy) (region : Region) (error : Error)
    (admitted : region.Admitted) : (unread policy region error).Settled := by
  have size := admitted.toNat_size
  refine ⟨admitted, ?_⟩
  match policy with
  | .zeroFill =>
    by_cases small : region.width < 2 ^ 63
    · rw [unread, resolve_zeroFill_of_lt (size ▸ small), size]
      exact Or.inl List.length_replicate
    · rw [unread, resolve_zeroFill_of_le (size ▸ Nat.le_of_not_lt small)]
      exact Or.inr (Or.inl rfl)
  | .omit => exact Or.inr (Or.inr ⟨_, rfl, rfl⟩)
  | .dropRegion => exact Or.inr (Or.inl rfl)

theorem settled_of_settle {policy : ReadFailurePolicy} {region : Region}
    {outcome : ReadOutcome} {taken : Taken} (admitted : region.Admitted)
    (settled : settle policy region outcome = .ok taken) : taken.Settled := by
  cases outcome with
  | data bytes =>
    simp only [settle, admitted.toNat_size] at settled
    split at settled
    · rename_i long
      obtain rfl := Except.ok.inj settled
      exact ⟨admitted, Or.inl long⟩
    · obtain rfl := Except.ok.inj settled
      exact settled_unread policy region _ admitted
  | failed error =>
    obtain rfl := Except.ok.inj settled
    exact settled_unread policy region error admitted
  | crashed reason => cases settled

theorem filterMap_written? (taken : List Taken) :
    taken.filterMap Taken.written?
      = (kept taken).map fun region => ⟨region.region.writtenHeader, region.contents.data⟩ := by
  induction taken with
  | nil => rfl
  | cons first rest ih =>
    by_cases dropped : first.contents = .dropped
    · have absent : first.written? = none := if_pos dropped
      rw [List.filterMap_cons_none absent, ih, kept, kept,
        List.filter_cons_of_neg (by simpa using dropped)]
    · have present : first.written?
          = some ⟨first.region.writtenHeader, first.contents.data⟩ := if_neg dropped
      rw [List.filterMap_cons_some present, ih, kept, kept,
        List.filter_cons_of_pos (by simpa using dropped), List.map_cons]

end Export
end SegmentContainer
