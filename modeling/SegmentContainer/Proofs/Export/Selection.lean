import SegmentContainer.Proofs.Export.Order

/-!
# What a selection is

A selection of regions is told without sorting: it holds every initialized region as often
as the list does and nothing else, its starts do not descend, and the regions of one start
stand in it as they stand in the list.  Regions may be equal in every field, so the same is
also told of the places that they have in the list.  Either way there is one selection, the
list that an export takes, and selecting from it again changes nothing.
-/

set_option autoImplicit false

namespace SegmentContainer

/-- The chosen regions are the initialized ones, by start, and those that share a start are
in the order of the list. -/
structure Selection (regions chosen : List Region) : Prop where
  counts : ∀ region,
    chosen.count region = if region.initialized then regions.count region else 0
  ascending : chosen.Pairwise fun first second => first.start ≤ second.start
  ties : ∀ start, chosen.filter (·.start = start)
    = (regions.filter (·.initialized)).filter (·.start = start)

/-- Two lists in ascending order are the same if they have the same items for each place in
that order. -/
theorem eq_of_filter_key_eq {α : Type} {key : α → UInt64} {first second : List α}
    (ascending : first.Pairwise fun a b => key a ≤ key b)
    (otherAscending : second.Pairwise fun a b => key a ≤ key b)
    (same : ∀ value, first.filter (key · = value) = second.filter (key · = value)) :
    first = second := by
  induction first generalizing second with
  | nil =>
    rw [eq_comm, List.eq_nil_iff_forall_not_mem]
    intro item member
    have found : item ∈ second.filter (key · = key item) := by simp [member]
    rw [← same (key item)] at found
    cases found
  | cons item rest ih =>
    cases second with
    | nil => simpa using same (key item)
    | cons other later =>
      obtain ⟨least, restAscending⟩ := List.pairwise_cons.mp ascending
      obtain ⟨otherLeast, laterAscending⟩ := List.pairwise_cons.mp otherAscending
      -- the heads are least in both lists, so they share a key and head its filter
      have below : key item ≤ key other := by
        have found : other ∈ (item :: rest).filter (key · = key other) := by
          simp [same (key other)]
        rcases List.mem_cons.mp (List.mem_filter.mp found).1 with rfl | member
        · exact UInt64.le_refl _
        · exact least other member
      have above : key other ≤ key item := by
        have found : item ∈ (other :: later).filter (key · = key item) := by
          simp [← same (key item)]
        rcases List.mem_cons.mp (List.mem_filter.mp found).1 with rfl | member
        · exact UInt64.le_refl _
        · exact otherLeast item member
      have keys : key item = key other := UInt64.le_antisymm below above
      have heads : item = other := by
        have both := same (key item)
        simp only [List.filter_cons, keys, decide_true, if_true, List.cons.injEq] at both
        exact both.1
      subst other
      congr 1
      apply ih restAscending laterAscending
      intro value
      have both := same value
      simp only [List.filter_cons] at both
      split at both
      · exact (List.cons.inj both).2
      · exact both

theorem ascending_select (regions : List Region) :
    (select regions).Pairwise fun first second => first.start ≤ second.start := by
  have sorted := List.pairwise_mergeSort (startOrder_trans id) (startOrder_total id)
    (regions.filter fun region => (id region).initialized)
  exact sorted.imp of_decide_eq_true

theorem select_perm (regions : List Region) :
    (select regions).Perm (regions.filter (·.initialized)) :=
  List.mergeSort_perm _ _

theorem select_eq_self {regions : List Region} (ready : ∀ region ∈ regions, region.initialized)
    (ascending : regions.Pairwise fun first second => first.start ≤ second.start) :
    select regions = regions := by
  have whole : regions.filter (fun region => (id region).initialized) = regions :=
    List.filter_eq_self.mpr ready
  rw [select, selectBy, whole]
  exact List.mergeSort_of_pairwise (ascending.imp fun below => decide_eq_true below)

theorem select_filter (test : Region → Bool) (regions : List Region) :
    select (regions.filter test) = (select regions).filter test := by
  have edited := selectBy_filterMap id id (Option.guard fun region => test region)
    (fun old new kept => (Option.guard_eq_some_iff.mp kept).1.symm) regions
  rwa [List.filterMap_eq_filter] at edited

theorem initialized_of_mem_select {regions : List Region} {region : Region}
    (member : region ∈ select regions) : region.initialized = true :=
  (List.mem_filter.mp ((select_perm regions).mem_iff.mp member)).2

theorem selection_select (regions : List Region) : Selection regions (select regions) where
  counts region := by
    rw [(select_perm regions).count_eq]
    split
    · rename_i ready
      exact List.count_filter ready
    · rename_i unready
      rw [List.count_eq_zero]
      exact fun member => unready (List.mem_filter.mp member).2
  ascending := ascending_select regions
  ties start := by
    -- what has one start is in order already, so that only the choice is left
    have one : (regions.filter (·.initialized)).filter (·.start = start)
        = select ((regions.filter (·.initialized)).filter (·.start = start)) := by
      refine (select_eq_self ?_ ?_).symm
      · intro region member
        exact (List.mem_filter.mp (List.mem_filter.mp member).1).2
      · refine List.pairwise_of_forall_mem_list fun first inside second inside' => ?_
        have atStart := (List.mem_filter.mp inside).2
        have alsoAtStart := (List.mem_filter.mp inside').2
        simp only [decide_eq_true_eq] at atStart alsoAtStart
        exact UInt64.le_of_eq (atStart.trans alsoAtStart.symm)
    rw [one, select_filter, select_filter]
    congr 1
    exact (List.filter_eq_self.mpr fun region => initialized_of_mem_select).symm

def selectPlaces (regions : List Region) : List (Region × Nat) :=
  selectBy Prod.fst regions.zipIdx

theorem map_fst_selectPlaces (regions : List Region) :
    (selectPlaces regions).map Prod.fst = select regions := by
  rw [selectPlaces, ← selectBy_map Prod.fst id Prod.fst (fun _ => rfl), List.zipIdx_map_fst,
    select]

/-- A list has one selection, also one by places, and an export takes it.  A selection is its
own selection. -/
theorem selection_unique (regions : List Region) :
    (∀ chosen, Selection regions chosen ↔ chosen = select regions)
      ∧ (selectPlaces regions).map Prod.fst = select regions
      ∧ (∀ order, StableOrder (·.start.toNat) (·.initialized) regions order
        ↔ order = selectPlaces regions)
      ∧ (∀ image : Image, image.regions = regions →
        image.selected = (selectPlaces regions).map fun item => ⟨item.2, item.1⟩)
      ∧ select (select regions) = select regions := by
  have choice : ∀ chosen, Selection regions chosen ↔ chosen = select regions := by
    intro chosen
    constructor
    · intro selection
      have own := selection_select regions
      apply eq_of_filter_key_eq selection.ascending own.ascending
      intro start
      exact (selection.ties start).trans (own.ties start).symm
    · rintro rfl
      exact selection_select regions
  have places : ∀ order, StableOrder (·.start.toNat) (·.initialized) regions order
      ↔ order = selectPlaces regions := by
    intro order
    constructor
    · intro stable
      exact stable.unique (stableOrder_selectBy id regions)
    · rintro rfl
      exact stableOrder_selectBy id regions
  refine ⟨choice, map_fst_selectPlaces regions, places, ?_, ?_⟩
  · intro image same
    have listed : image.regions = regions.map id := by rw [same, List.map_id]
    exact Image.selected_of_items listed
  · exact select_eq_self (fun _ => initialized_of_mem_select) (ascending_select regions)

end SegmentContainer
