import Mathlib
import SegmentContainer.Export.Selection

/-!
# The order of export

An export takes every initialized region once, by start, and regions that share a
start in the order of the image.  These conditions are stated on the list itself and
shown of the selection.  An edit that removes regions, or changes what goes with them,
can be made before the selection or after it.
-/

set_option autoImplicit false

namespace SegmentContainer

/-- A stable sort keeps a relation of the list between the items that its order does not
tell apart. -/
theorem pairwise_mergeSort_stable {α : Type} {le : α → α → Bool} {before : α → α → Prop}
    (trans : ∀ a b c : α, le a b → le b c → le a c) (total : ∀ a b : α, le a b || le b a)
    (items : List α) (ranked : items.Pairwise before) :
    (items.mergeSort le).Pairwise fun a b => le a b ∧ (le b a → before a b) := by
  induction items with
  | nil => simp
  | cons item rest ih =>
    -- the first item goes in front of all later ones that are not below it
    obtain ⟨lower, upper, whole, tail, below⟩ := List.mergeSort_cons trans total item rest
    obtain ⟨first, later⟩ := List.pairwise_cons.mp ranked
    have sorted := List.pairwise_mergeSort trans total (item :: rest)
    have restPairs := ih later
    rw [whole] at sorted ⊢
    rw [tail] at restPairs
    obtain ⟨lowerPairs, upperPairs, across⟩ := List.pairwise_append.mp restPairs
    obtain ⟨-, itemUpper, -⟩ := List.pairwise_append.mp sorted
    refine List.pairwise_append.mpr ⟨lowerPairs, List.pairwise_cons.mpr ⟨?_, upperPairs⟩, ?_⟩
    · intro other member
      refine ⟨(List.pairwise_cons.mp itemUpper).1 other member, fun _ => first other ?_⟩
      have inside : other ∈ rest.mergeSort le := tail ▸ List.mem_append_right lower member
      exact List.mem_mergeSort.mp inside
    · intro small inLower other member
      rcases List.mem_cons.mp member with rfl | inUpper
      · have notAbove : le other small = false := by simpa using below small inLower
        have order := total small other
        simp only [notAbove, Bool.or_false] at order
        exact ⟨order, fun above => absurd above (by simp [notAbove])⟩
      · exact across small inLower other inUpper

theorem append_inj_of_test {α : Type} {test : α → Bool} {front back first second : List α}
    (same : front ++ back = first ++ second) (accepted : ∀ item ∈ front, test item = true)
    (refused : ∀ item ∈ back, test item = false) (firstAccepted : ∀ item ∈ first, test item = true)
    (secondRefused : ∀ item ∈ second, test item = false) : front = first ∧ back = second := by
  have kept := congrArg (List.filter test) same
  rw [List.filter_append, List.filter_append, List.filter_eq_self.mpr accepted,
    List.filter_eq_self.mpr firstAccepted, List.filter_eq_nil_iff.mpr (by simpa using refused),
    List.filter_eq_nil_iff.mpr (by simpa using secondRefused), List.append_nil,
    List.append_nil] at kept
  rw [kept] at same
  exact ⟨kept, List.append_cancel_left same⟩

/-- A stable sort commutes with an edit of the items that keeps their order. -/
theorem mergeSort_filterMap {α β : Type} {le : α → α → Bool} {leAfter : β → β → Bool}
    (trans : ∀ a b c : α, le a b → le b c → le a c) (total : ∀ a b : α, le a b || le b a)
    (transAfter : ∀ a b c : β, leAfter a b → leAfter b c → leAfter a c)
    (totalAfter : ∀ a b : β, leAfter a b || leAfter b a) (edit : α → Option β)
    (keeps : ∀ a b c d, edit a = some c → edit b = some d → leAfter c d = le a b)
    (items : List α) :
    (items.filterMap edit).mergeSort leAfter = (items.mergeSort le).filterMap edit := by
  induction items with
  | nil => simp
  | cons item rest ih =>
    obtain ⟨lower, upper, whole, tail, below⟩ := List.mergeSort_cons trans total item rest
    rw [tail, List.filterMap_append] at ih
    rw [whole, List.filterMap_append]
    cases edited : edit item with
    | none => rw [List.filterMap_cons_none edited, List.filterMap_cons_none edited, ih]
    | some made =>
      rw [List.filterMap_cons_some edited, List.filterMap_cons_some edited]
      obtain ⟨lowerAfter, upperAfter, wholeAfter, tailAfter, belowAfter⟩ :=
        List.mergeSort_cons transAfter totalAfter made (rest.filterMap edit)
      rw [tailAfter] at ih
      -- on both sides the new item stands in front of the items that are not below it
      have sorted := List.pairwise_mergeSort trans total (item :: rest)
      have sortedAfter := List.pairwise_mergeSort transAfter totalAfter
        (made :: rest.filterMap edit)
      rw [whole] at sorted
      rw [wholeAfter] at sortedAfter
      have above := (List.pairwise_cons.mp (List.pairwise_append.mp sorted).2.1).1
      have aboveAfter := (List.pairwise_cons.mp (List.pairwise_append.mp sortedAfter).2.1).1
      have editedBelow : ∀ other ∈ lower.filterMap edit, (!leAfter made other) = true := by
        intro other member
        obtain ⟨old, inside, became⟩ := List.mem_filterMap.mp member
        rw [keeps item old made other edited became]
        exact below old inside
      have editedAbove : ∀ other ∈ upper.filterMap edit, (!leAfter made other) = false := by
        intro other member
        obtain ⟨old, inside, became⟩ := List.mem_filterMap.mp member
        rw [keeps item old made other edited became, above old inside]
        rfl
      have newAbove : ∀ other ∈ upperAfter, (!leAfter made other) = false := by
        intro other member
        rw [aboveAfter other member]
        rfl
      obtain ⟨lowerSame, upperSame⟩ :=
        append_inj_of_test ih belowAfter newAbove editedBelow editedAbove
      rw [wholeAfter, lowerSame, upperSame]

theorem startOrder_trans {α : Type} (region : α → Region) (a b c : α) :
    decide ((region a).start ≤ (region b).start) = true →
      decide ((region b).start ≤ (region c).start) = true →
        decide ((region a).start ≤ (region c).start) = true := by
  intro first second
  simp only [decide_eq_true_eq] at first second ⊢
  exact UInt64.le_trans first second

theorem startOrder_total {α : Type} (region : α → Region) (a b : α) :
    (decide ((region a).start ≤ (region b).start)
      || decide ((region b).start ≤ (region a).start)) = true := by
  simp only [Bool.or_eq_true, decide_eq_true_eq]
  exact UInt64.le_total _ _

theorem pairwise_selectBy {α : Type} (region : α → Region) {before : α → α → Prop}
    {items : List α} (ranked : items.Pairwise before) :
    (selectBy region items).Pairwise fun first second =>
      (region first).start < (region second).start
        ∨ (region first).start = (region second).start ∧ before first second := by
  refine (pairwise_mergeSort_stable (startOrder_trans region) (startOrder_total region) _
    (ranked.filter _)).imp ?_
  intro first second related
  obtain ⟨low, ties⟩ := related
  simp only [decide_eq_true_eq] at low ties
  rcases UInt64.lt_or_eq_of_le low with less | same
  · exact Or.inl less
  · exact Or.inr ⟨same, ties (UInt64.le_of_eq same.symm)⟩

theorem pairwise_zipIdx {α : Type} (items : List α) :
    items.zipIdx.Pairwise fun first second => first.2 < second.2 := by
  have numbers : (items.zipIdx.map (·.2)).Pairwise (· < ·) := by
    rw [List.zipIdx_map_snd]
    exact List.pairwise_lt_range'
  exact List.pairwise_map.mp numbers

/-- Items that are ready, each once and with its number, in ascending order of start; items
that share a start keep the order of the list. -/
structure StableOrder {α : Type} (start : α → Nat) (ready : α → Bool) (items : List α)
    (order : List (α × Nat)) : Prop where
  complete : order.Perm (items.zipIdx.filter fun item => ready item.1)
  ascending : order.Pairwise fun first second =>
    start first.1 < start second.1 ∨ start first.1 = start second.1 ∧ first.2 < second.2

theorem StableOrder.mem {α : Type} {start : α → Nat} {ready : α → Bool} {items : List α}
    {order : List (α × Nat)} (stable : StableOrder start ready items order) {item : α × Nat}
    (member : item ∈ order) : item.1 ∈ items ∧ ready item.1 = true := by
  obtain ⟨numbered, isReady⟩ := List.mem_filter.mp (stable.complete.mem_iff.mp member)
  exact ⟨List.fst_mem_of_mem_zipIdx numbered, isReady⟩

theorem StableOrder.congr {α : Type} {start otherStart : α → Nat} {ready otherReady : α → Bool}
    {items : List α} {order : List (α × Nat)} (stable : StableOrder start ready items order)
    (starts : ∀ item ∈ items, start item = otherStart item)
    (readies : ∀ item ∈ items, ready item = otherReady item) :
    StableOrder otherStart otherReady items order where
  complete := by
    have same : items.zipIdx.filter (fun item => ready item.1)
        = items.zipIdx.filter (fun item => otherReady item.1) := by
      apply List.filter_congr
      intro item member
      exact readies _ (List.fst_mem_of_mem_zipIdx member)
    exact same ▸ stable.complete
  ascending := by
    refine stable.ascending.imp_of_mem ?_
    intro first second inOrder after related
    rw [← starts _ (stable.mem inOrder).1, ← starts _ (stable.mem after).1]
    exact related

theorem StableOrder.unique {α : Type} {start : α → Nat} {ready : α → Bool} {items : List α}
    {order other : List (α × Nat)} (stable : StableOrder start ready items order)
    (otherStable : StableOrder start ready items other) : order = other := by
  refine List.Perm.eq_of_pairwise ?_ stable.ascending otherStable.ascending
    (stable.complete.trans otherStable.complete.symm)
  intro first second _ _ before after
  omega

theorem stableOrder_selectBy {α : Type} (region : α → Region) (items : List α) :
    StableOrder (fun item => (region item).start.toNat) (fun item => (region item).initialized)
      items (selectBy (fun item => region item.1) items.zipIdx) := by
  constructor
  · exact List.mergeSort_perm _ _
  · refine (pairwise_selectBy (fun item => region item.1) (pairwise_zipIdx items)).imp ?_
    intro first second related
    rw [UInt64.lt_iff_toNat_lt, ← UInt64.toNat_inj] at related
    exact related

/-- Every initialized region of the image once, in ascending order of start; regions that
share a start keep the order of the image. -/
structure Image.ExportOrder (image : Image) (order : List Placed) : Prop where
  complete : order.Perm (image.placed.filter fun placed => placed.region.initialized)
  ascending : order.Pairwise fun first second =>
    first.region.start < second.region.start
      ∨ first.region.start = second.region.start ∧ first.index < second.index

theorem Image.map_region_placed (image : Image) :
    image.placed.map (·.region) = image.regions := by
  rw [Image.placed, List.map_map]
  exact List.zipIdx_map_fst 0 image.regions

theorem Image.pairwise_placed (image : Image) :
    image.placed.Pairwise fun first second => first.index < second.index := by
  rw [Image.placed, List.pairwise_map]
  exact pairwise_zipIdx image.regions

theorem Image.selected_exportOrder (image : Image) : image.ExportOrder image.selected where
  complete := List.mergeSort_perm _ _
  ascending := pairwise_selectBy Placed.region image.pairwise_placed

theorem Image.mem_regions_of_selected {image : Image} {placed : Placed}
    (member : placed ∈ image.selected) : placed.region ∈ image.regions := by
  have selected := image.selected_exportOrder.complete.mem_iff.mp member
  obtain ⟨numbered, inside, rfl⟩ := List.mem_map.mp (List.mem_filter.mp selected).1
  exact List.fst_mem_of_mem_zipIdx inside

/-! ## Edits of the image -/

theorem selectBy_filterMap {α β : Type} (region : α → Region) (regionAfter : β → Region)
    (edit : α → Option β) (keeps : ∀ old new, edit old = some new → regionAfter new = region old)
    (items : List α) :
    selectBy regionAfter (items.filterMap edit) = (selectBy region items).filterMap edit := by
  have filtered : (items.filterMap edit).filter (fun item => (regionAfter item).initialized)
      = (items.filter fun item => (region item).initialized).filterMap edit := by
    rw [List.filter_filterMap, List.filterMap_filter]
    apply List.filterMap_congr
    intro item _
    cases edited : edit item with
    | none => simp
    | some made =>
      cases ready : (region item).initialized <;>
        simp [Option.filter, keeps item made edited, ready]
  rw [selectBy, selectBy, filtered]
  apply mergeSort_filterMap (startOrder_trans region) (startOrder_total region)
    (startOrder_trans regionAfter) (startOrder_total regionAfter)
  intro a b c d first second
  rw [keeps a c first, keeps b d second]

theorem selectBy_map {α β : Type} (region : α → Region) (regionAfter : β → Region)
    (edit : α → β) (keeps : ∀ item, regionAfter (edit item) = region item) (items : List α) :
    selectBy regionAfter (items.map edit) = (selectBy region items).map edit := by
  have edited := selectBy_filterMap region regionAfter (fun item => some (edit item))
    (fun old new same => Option.some.inj same ▸ keeps old) items
  rwa [List.filterMap_eq_map'] at edited

theorem Image.selected_of_items {α : Type} {image : Image} {region : α → Region}
    {items : List α} (regions : image.regions = items.map region) :
    image.selected = (selectBy (fun item => region item.1) items.zipIdx).map fun item =>
      ⟨item.2, region item.1⟩ := by
  have placed : image.placed = items.zipIdx.map fun item => ⟨item.2, region item.1⟩ := by
    rw [Image.placed, regions, List.zipIdx_map, List.map_map]
    rfl
  rw [Image.selected, placed]
  exact selectBy_map (fun item : α × Nat => region item.1) Placed.region _ (fun _ => rfl) _

end SegmentContainer
